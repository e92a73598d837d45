/-!
# Patterns

What a regular expression says, as far as it decides whether texts can be matched against it: its
parts and how deep they are nested. A pattern matches characters or, where its flags say so, bytes.
-/

namespace Reveille.Pattern

structure Literal where
  char : Char
  byte : Bool
deriving DecidableEq, Repr

/-- What the sets with a name hold. -/
inductive SetName where
  | digit
  | space
  | word
  /-- A class of ASCII characters. -/
  | ascii (name : String)
  | category (letter : Char)
deriving DecidableEq, Repr

/-- How two sets make a third. -/
inductive SetOp where
  | intersection
  | difference
  | symmetricDifference
deriving DecidableEq, Repr

inductive CharSet where
  | empty
  | literal (l : Literal)
  | range (low high : Literal)
  | named (name : SetName) (negated : Bool)
  | bracket (negated : Bool) (inside : CharSet)
  | union (parts : List CharSet)
  | combined (op : SetOp) (left right : CharSet)
deriving Repr

/-- A place between characters. -/
inductive Anchor where
  | lineStart
  | lineEnd
  | textStart
  | textEnd
  | wordEdge
  /-- Any place that is no edge of a word. -/
  | noWordEdge
  | wordStart
  | wordEnd
deriving DecidableEq, Repr

inductive Expr where
  | empty
  | literal (l : Literal)
  | any
  /-- A place, and whether it is one between bytes. -/
  | anchor (a : Anchor) (bytes : Bool)
  | set (s : CharSet)
  /-- Flags for what follows. They are applied where the pattern is read. -/
  | flags
  | repeated (e : Expr)
  | group (e : Expr)
  | sequence (es : List Expr)
  | choice (es : List Expr)
deriving Repr

/-! ### Sets -/

def Literal.isAscii (l : Literal) : Bool :=
  l.char.toNat < 0x80

mutual

/-- Whether a set holds ASCII alone, as its parts tell: one that leaves characters out does not. -/
def CharSet.isAscii : CharSet → Bool
  | .empty => true
  | .literal l => l.isAscii
  | .range low high => low.isAscii && high.isAscii
  | .named (.category _) _ => false
  | .named _ negated => !negated
  | .bracket negated s => !negated && s.isAscii
  | .union parts => areAscii parts
  | .combined _ left right => left.isAscii && right.isAscii

def areAscii : List CharSet → Bool
  | [] => true
  | s :: ss => s.isAscii && areAscii ss

end

mutual

/-- How deep brackets, unions and operations are nested. -/
def CharSet.depth : CharSet → Nat
  | .empty | .literal _ | .range _ _ | .named _ _ => 0
  | .bracket _ s => s.depth + 1
  | .union parts => setDepth parts + 1
  | .combined _ left right => max left.depth right.depth + 1

/-- The depth of the deepest of some sets. -/
def setDepth : List CharSet → Nat
  | [] => 0
  | s :: ss => max s.depth (setDepth ss)

end

/-- The union of sets, which is none if there is but one. -/
def CharSet.ofParts : List CharSet → CharSet
  | [] => .empty
  | [s] => s
  | parts => .union parts

/-! ### Expressions -/

def Anchor.isWord : Anchor → Bool
  | .wordEdge | .noWordEdge | .wordStart | .wordEnd => true
  | _ => false

mutual

/-- How deep the parts of an expression are nested. -/
def Expr.depth : Expr → Nat
  | .empty | .literal _ | .any | .anchor _ _ | .flags => 0
  | .set s => s.depth
  | .repeated e | .group e => e.depth + 1
  | .sequence es | .choice es => depth es + 1

/-- The depth of the deepest of some expressions. -/
def depth : List Expr → Nat
  | [] => 0
  | e :: es => max e.depth (depth es)

end

mutual

/-- Whether an expression looks for words that are made of characters, not of bytes. -/
def Expr.seesWords : Expr → Bool
  | .empty | .literal _ | .any | .set _ | .flags => false
  | .anchor a bytes => a.isWord && !bytes
  | .repeated e | .group e => e.seesWords
  | .sequence es | .choice es => seeWords es

def seeWords : List Expr → Bool
  | [] => false
  | e :: es => e.seesWords || seeWords es

end

/-- One expression after the other. -/
def Expr.ofSequence : List Expr → Expr
  | [] => .empty
  | [e] => e
  | es => .sequence es

/-- One of some expressions. -/
def Expr.ofChoice : List Expr → Expr
  | [e] => e
  | es => .choice es

end Reveille.Pattern
