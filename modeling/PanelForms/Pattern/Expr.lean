import PanelForms.Pattern.CharClass

/-!
# Patterns and search

A pattern is searched for anywhere in a text, and only whether it occurs matters.  So an
expression is read as a function on sets of positions: from the positions where it may start to
the positions where it may end.

Main definitions:

- `CharSet`: sets of characters, closed under set operations and case folding.
- `Expr`: expressions over characters and positions.
- `Expr.ends`: the positions where a match can end, given those where it may start.
- `Expr.occursIn`: the search.
-/

namespace PanelForms
namespace Pattern

open Text

/-- A set of code points. -/
inductive CharSet where
  | nothing
  | range (first last : Nat)
  | property (p : Property)
  | union (a b : CharSet)
  | inter (a b : CharSet)
  | compl (a : CharSet)
  | foldCase (a : CharSet)
  | foldAsciiCase (a : CharSet)
  deriving DecidableEq

namespace CharSet

/-- The code point of the ASCII letter in the other case, or the code point itself. -/
def swapAsciiCase (n : Nat) : Nat :=
  if 65 ≤ n ∧ n ≤ 90 then n + 32 else if 97 ≤ n ∧ n ≤ 122 then n - 32 else n

/-- Membership.  A set folded by case holds every case variant of its members. -/
def contains : CharSet → Nat → Bool
  | .nothing, _ => false
  | .range first last, n => first ≤ n && n ≤ last
  | .property p, n => p.holds n
  | .union a b, n => a.contains n || b.contains n
  | .inter a b, n => a.contains n && b.contains n
  | .compl a, n => !a.contains n
  | .foldCase a, n => (caseVariants n).any a.contains
  | .foldAsciiCase a, n => a.contains n || a.contains (swapAsciiCase n)

/-- One code point. -/
def single (n : Nat) : CharSet :=
  .range n n

/-- How many steps over encoded characters it takes to tell the members of a set apart. -/
def weight : CharSet → Nat
  | .nothing => 1
  | .range first last => if last < 128 then 1 else if first = last then 3 else 12
  | .property p => p.weight
  | .union a b => a.weight + b.weight
  | .inter a b => a.weight + b.weight
  | .compl a => a.weight + 8
  | .foldCase a => a.weight
  | .foldAsciiCase a => a.weight

/-- The union of several sets. -/
def unionAll (sets : List CharSet) : CharSet :=
  sets.foldl .union .nothing

end CharSet

/-- A condition on a position, which looks at the characters on its two sides. -/
inductive Assertion where
  | textStart
  | textEnd
  | lineStart (carriageReturns : Bool)
  | lineEnd (carriageReturns : Bool)
  | boundary (word : CharSet)
  | notBoundary (word : CharSet)
  | wordStart (word : CharSet)
  | wordEnd (word : CharSet)
  | wordStartHalf (word : CharSet)
  | wordEndHalf (word : CharSet)
  deriving DecidableEq

/-- A pattern expression. -/
inductive Expr where
  | empty
  | chars (set : CharSet)
  | assertion (a : Assertion)
  | seq (first second : Expr)
  | alt (left right : Expr)
  | repeated (body : Expr) (least : Nat) (most : Option Nat)
  deriving DecidableEq

namespace Assertion

/-- Whether a character of the set stands at an index. -/
def at? (set : CharSet) (c : Option Nat) : Bool :=
  c.any set.contains

/-- Whether the condition holds between the characters `before` and `after`. -/
def holds (a : Assertion) (before after : Option Nat) : Bool :=
  match a with
  | .textStart => before.isNone
  | .textEnd => after.isNone
  | .lineStart false => before.isNone || before == some 10
  | .lineEnd false => after.isNone || after == some 10
  | .lineStart true =>
    before.isNone || before == some 10 || (before == some 13 && after != some 10)
  | .lineEnd true =>
    after.isNone || after == some 13 || (after == some 10 && before != some 13)
  | .boundary word => at? word before != at? word after
  | .notBoundary word => at? word before == at? word after
  | .wordStart word => !at? word before && at? word after
  | .wordEnd word => at? word before && !at? word after
  | .wordStartHalf word => !at? word before
  | .wordEndHalf word => !at? word after

end Assertion

/-- Set union of two ascending lists of positions. -/
def mergePositions : List Nat → List Nat → List Nat
  | [], ys => ys
  | x :: xs, ys =>
    let below := ys.takeWhile (· < x)
    let rest := (ys.dropWhile (· < x)).dropWhile (· = x)
    below ++ x :: mergePositions xs rest

/-- Apply a step a number of times. -/
def iterate (step : List Nat → List Nat) : Nat → List Nat → List Nat
  | 0, ps => ps
  | n + 1, ps => if ps.isEmpty then [] else iterate step n (step ps)

/-- The positions reached by at most so many steps; it stops early when a step adds none. -/
def reach (step : List Nat → List Nat) : Nat → List Nat → List Nat
  | 0, ps => ps
  | n + 1, ps =>
    let more := mergePositions ps (step ps)
    if more.length = ps.length then ps else reach step n more

namespace Expr

/-- The positions where a match can end, given those where it may start.  Positions are ascending;
the unbounded repetition needs no more steps than there are positions. -/
def ends (text : Array Nat) : Expr → List Nat → List Nat
  | .empty, ps => ps
  | .chars set, ps => ps.filterMap fun p =>
      if text[p]?.any set.contains then some (p + 1) else none
  | .assertion a, ps => ps.filter fun p =>
      a.holds (if p = 0 then none else text[p - 1]?) text[p]?
  | .seq first second, ps => ends text second (ends text first ps)
  | .alt left right, ps => mergePositions (ends text left ps) (ends text right ps)
  | .repeated body least most, ps =>
    let start := iterate (ends text body) least ps
    match most with
    | none => reach (ends text body) (text.size + 1) start
    | some most => reach (ends text body) (most - least) start

/-- Whether a pattern occurs anywhere in a text. -/
def occursIn (e : Expr) (text : String) : Bool :=
  let codes := (text.toList.map Char.toNat).toArray
  !(e.ends codes (List.range (codes.size + 1))).isEmpty

/-- How many steps a pattern unfolds to when every repeated part is written out. -/
def weight : Expr → Nat
  | .empty => 1
  | .chars set => set.weight
  | .assertion _ => 1
  | .seq first second => first.weight + second.weight
  | .alt left right => left.weight + right.weight + 1
  | .repeated body least most => body.weight * max 1 (max least (most.getD least)) + 1

/-- All of the expressions in a row. -/
def seqAll (es : List Expr) : Expr :=
  match es with
  | [] => .empty
  | e :: rest => rest.foldl .seq e

/-- Any one of the expressions. -/
def altAll (es : List Expr) : Expr :=
  match es with
  | [] => .empty
  | e :: rest => rest.foldl .alt e

end Expr
end Pattern
end PanelForms
