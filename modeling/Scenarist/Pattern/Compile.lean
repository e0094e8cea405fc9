import Scenarist.Pattern.Meaning
import Scenarist.Pattern.Reader

/-! # Compiling patterns

A pattern comes with flag letters. `i` ignores case, `m` lets anchors match at lines, `s` lets a
point match line breaks, `x` ignores blanks; `u`, `g` and `d` change nothing.
-/

namespace Scenarist

namespace Pattern

/-- Why a pattern does not compile. -/
inductive CompileFault where
  | unsupportedFlag (letter : Char)
  | malformed (pattern : Text) (fault : Fault)

def CompileFault.message : CompileFault → Text
  | .unsupportedFlag letter => "unsupported regex flag `" ++ letter :: "`".toList
  | .malformed pattern fault => fault.message pattern

/-- The flags that letters set, and whether blanks are ignored. -/
def Flags.ofLetters : (f : Flags) → (ignoreSpace : Bool) → Text →
    Except CompileFault (Flags × Bool)
  | f, ignoreSpace, [] => .ok (f, ignoreSpace)
  | f, ignoreSpace, c :: r =>
    match c with
    | 'i' => ofLetters { f with caseInsensitive := true } ignoreSpace r
    | 'm' => ofLetters { f with multiLine := true } ignoreSpace r
    | 's' => ofLetters { f with dotAll := true } ignoreSpace r
    | 'x' => ofLetters f true r
    | 'u' | 'g' | 'd' => ofLetters f ignoreSpace r
    | _ => .error (.unsupportedFlag c)

/-- The expression of a pattern with the given flag letters. -/
def compile (pattern flags : Text) : Except CompileFault Expr := do
  let (f, ignoreSpace) ← Flags.plain.ofLetters false flags
  let expr : Except Fault Expr := do
    let e ← Ast.read ignoreSpace pattern
    let (e, _) ← e.expr f
    return e
  expr.mapError (.malformed pattern)

/-- The text as a pattern that stands for it: a backslash before each character that has a
meaning of its own. -/
def escape (t : Text) : Text := t.flatMap fun c => if Cursor.isMeta c then ['\\', c] else [c]

end Pattern

end Scenarist
