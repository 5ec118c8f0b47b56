import Questionnaire.Pattern.Classes
import Questionnaire.Pattern.Expr

/-!
# Pattern — meaning

The meaning of a syntax tree, built with the simplifying constructors of
the expressions; capturing groups are numbered from 1 in the order they
open. Flags take effect here:
a flag setting holds until the end of its group (alternatives of that group
included), a group with flags sets them for its own body only.

* With `i`, a literal stands for its case-folding class and every set is
  closed under case folding before it is negated.
* With `m`, `^` and `$` test line starts and ends (`\n`, and with `R` also
  `\r\n`); without it, the start and end of the text.
* With `s`, `.` is any character; without it, any but `\n` (and `\r` with `R`).
* With `U`, repetitions prefer fewer copies, and a lazy one more.
* Without `u`, classes are ASCII, `\p` is refused, and anything that could
  match a byte above ASCII (`.`, negated classes, `\B`, `\x80` and up) is a
  fault, since the text is always well-formed.

**Main definitions.** `Mode`, `translate`.
-/

namespace Questionnaire
namespace Pattern

/-- **The flags in force.** -/
structure Mode where
  caseless : Bool := false
  multiLine : Bool := false
  dotAll : Bool := false
  unicode : Bool := true
  crlf : Bool := false
  swapGreed : Bool := false
  deriving Inhabited, Repr

namespace Mode

/-- The mode with one flag set. -/
def set (m : Mode) (on : Bool) : Flag → Mode
  | .caseInsensitive => { m with caseless := on }
  | .multiLine => { m with multiLine := on }
  | .dotAll => { m with dotAll := on }
  | .unicode => { m with unicode := on }
  | .crlf => { m with crlf := on }
  | .swapGreed => { m with swapGreed := on }
  | .ignoreWhitespace => m

/-- The mode after flag items: flags after a negation are turned off. -/
def apply (m : Mode) (items : List (FlagItem × Span)) : Mode :=
  (items.foldl (fun (acc : Mode × Bool) item =>
    match item.1 with
    | .negation => (acc.1, false)
    | .flag f => (acc.1.set acc.2 f, acc.2)) (m, true)).1

/-- A set closed under the case folding of the mode, if it ignores case. -/
def fold (m : Mode) (s : CharSet) : CharSet :=
  if !m.caseless then s else if m.unicode then s.caseFold else s.asciiCaseFold

end Mode

/-- The fault `f` at `span`. -/
def faultAt {α : Type} (f : Fault) (span : Span) : Except SyntaxError α :=
  .error { fault := f, span := span }

/-- The set of a class: folded, then negated; without `u` it must stay ASCII. -/
def finishClass (m : Mode) (span : Span) (negated : Bool) (s : CharSet) :
    Except SyntaxError CharSet :=
  let s := m.fold s
  let s := if negated then s.complement else s
  if !m.unicode ∧ !s.isAscii then faultAt .invalidUtf8 span else .ok s

/-- The set of `\p{..}` in a mode. -/
def unicodeClass (m : Mode) (q : Query) (negated : Bool) (span : Span) :
    Except SyntaxError CharSet :=
  if !m.unicode then faultAt .unicodeNotAllowed span
  else
    match querySet q with
    | .error f => faultAt f span
    | .ok s => finishClass m span negated s

/-- The set of `\d`, `\s` or `\w` in a mode; these are closed under folding already. -/
def perlClass (m : Mode) (k : PerlClass) (negated : Bool) (span : Span) :
    Except SyntaxError CharSet :=
  let s := perlSet k m.unicode
  let s := if negated then s.complement else s
  if !m.unicode ∧ !s.isAscii then faultAt .invalidUtf8 span else .ok s

/-- A character of a set without `u`: ASCII, or a byte written `\xNN`. -/
def setChar (m : Mode) (c : Char) (span : Span) (byte : Option Nat) : Except SyntaxError Nat :=
  if m.unicode ∨ c.toNat ≤ 0x7F then .ok c.toNat
  else match byte with
    | some b => .ok b
    | none => faultAt .unicodeNotAllowed span

/-- **The set of a bracketed set expression.** -/
def setOf (m : Mode) : SetExpr → Except SyntaxError CharSet
  | .literal c span byte => do
    let n ← setChar m c span byte
    pure (CharSet.single n)
  | .range lo hi span => do
    let a ← setChar m lo span none
    let b ← setChar m hi span none
    pure (CharSet.ofRanges [(a, b)])
  | .ascii k negated _ => pure (if negated then (asciiSet k).complement else asciiSet k)
  | .unicode q negated span => unicodeClass m q negated span
  | .perl k negated span => perlClass m k negated span
  | .bracket body negated span => do finishClass m span negated (← setOf m body)
  | .union items _ => items.attach.foldlM (fun acc ⟨x, _⟩ => do pure (acc.union (← setOf m x))) CharSet.empty
  | .op kind lhs rhs _ => do
    let l := m.fold (← setOf m lhs)
    let r := m.fold (← setOf m rhs)
    pure (match kind with
      | .intersection => l.inter r
      | .difference => l.diff r
      | .symmetricDifference => l.symmDiff r)

/-- The meaning of a literal. -/
def literalExpr (m : Mode) (c : Char) (span : Span) (byte : Option Nat) : Except SyntaxError Expr :=
  if !m.unicode ∧ byte.isSome ∧ c.toNat > 0x7F then faultAt .invalidUtf8 span
  else if m.caseless ∧ (m.unicode ∨ c.toNat ≤ 0x7F) then
    .ok (Expr.ofSet (m.fold (CharSet.single c.toNat)) !m.unicode)
  else .ok (.literal [c])

/-- The meaning of `.`. -/
def dotExpr (m : Mode) (span : Span) : Except SyntaxError Expr :=
  if !m.unicode then faultAt .invalidUtf8 span
  else if m.dotAll then .ok (Expr.ofSet CharSet.full false)
  else if m.crlf then .ok (Expr.ofSet (CharSet.ofRanges [(0, 9), (11, 12), (14, maxCodePoint)]) false)
  else .ok (Expr.ofSet (CharSet.ofRanges [(0, 9), (11, maxCodePoint)]) false)

/-- The meaning of an assertion. -/
def assertionExpr (m : Mode) (k : Assertion) (span : Span) : Except SyntaxError Expr :=
  match k with
  | .startLine => .ok (.look (if m.multiLine then (if m.crlf then .startCRLF else .startLF) else .start))
  | .endLine => .ok (.look (if m.multiLine then (if m.crlf then .endCRLF else .endLF) else .stop))
  | .startText => .ok (.look .start)
  | .endText => .ok (.look .stop)
  | .wordBoundary => .ok (.look (.word m.unicode))
  | .notWordBoundary => if m.unicode then .ok (.look (.notWord true)) else faultAt .invalidUtf8 span
  | .wordStart => .ok (.look (.wordStart m.unicode))
  | .wordEnd => .ok (.look (.wordEnd m.unicode))
  | .wordStartHalf => .ok (.look (.wordStartHalf m.unicode))
  | .wordEndHalf => .ok (.look (.wordEndHalf m.unicode))

mutual

/-- **The meaning of a syntax tree** in a mode, after `n` capturing groups;
the mode after it and the number of capturing groups then. -/
def translateIn (m : Mode) (n : Nat) : Ast → Except SyntaxError (Expr × Mode × Nat)
  | .empty _ => .ok (.empty, m, n)
  | .literal c span byte => do pure (← literalExpr m c span byte, m, n)
  | .dot span => do pure (← dotExpr m span, m, n)
  | .assertion k span => do pure (← assertionExpr m k span, m, n)
  | .perl k negated span => do pure (Expr.ofSet (← perlClass m k negated span) !m.unicode, m, n)
  | .unicode q negated span => do pure (Expr.ofSet (← unicodeClass m q negated span) !m.unicode, m, n)
  | .bracket body negated span => do
    pure (Expr.ofSet (← finishClass m span negated (← setOf m body)) !m.unicode, m, n)
  | .repetition body lo hi greedy _ => do
    let (e, _, n') ← translateIn m n body
    pure (Expr.mkRepeat lo hi (greedy != m.swapGreed) e, m, n')
  | .group kind body _ =>
    match kind with
    | .plain items => do
      let (e, _, n') ← translateIn (m.apply items) n body
      pure (e, m, n')
    | .capture => do
      let (e, _, n') ← translateIn m (n + 1) body
      pure (.group (n + 1) none e, m, n')
    | .named name => do
      let (e, _, n') ← translateIn m (n + 1) body
      pure (.group (n + 1) (some name) e, m, n')
  | .flags items _ => .ok (.empty, m.apply items, n)
  | .concat items _ => do
    let (es, m', n') ← translateAll m n items
    pure (Expr.mkSeq es, m', n')
  | .alternation items _ => do
    let (es, m', n') ← translateAll m n items
    pure (Expr.mkAlt es, m', n')

/-- The meanings of items in order, each in the mode the one before leaves. -/
def translateAll (m : Mode) (n : Nat) : List Ast → Except SyntaxError (List Expr × Mode × Nat)
  | [] => .ok ([], m, n)
  | a :: rest => do
    let (e, m', n') ← translateIn m n a
    let (es, m'', n'') ← translateAll m' n' rest
    pure (e :: es, m'', n'')

end

/-- **The meaning of a pattern** under the default flags. -/
def translate (ast : Ast) : Except SyntaxError Expr := do
  pure (← translateIn {} 0 ast).1

end Pattern
end Questionnaire
