import Scenarist.Json.Reader
import Scenarist.Pattern.Compile
import Scenarist.Text.Lowercase
import Scenarist.Yaml.Record

/-! # Text matchers

How the text of an element is compared: it contains a text whatever the case, it equals a text, or
a pattern matches a part of it. A specifier writes a matcher as a pattern between slashes, as a
quoted text with a letter for the case behind it, or as the text itself.
-/

namespace Scenarist

inductive TextMatcher where
  | plain (text : Text)
  | exact (text : Text) (caseSensitive : Bool)
  | regex (pattern flags : Text)
deriving DecidableEq

namespace TextMatcher

/-- Equality whatever the case, as a pattern for the whole text. -/
def exactIgnoreCase (text : Text) : TextMatcher :=
  .regex ('^' :: Pattern.escape text ++ ['$']) ['i']

/-- The text or pattern that the matcher compares with. -/
def value : TextMatcher → Text
  | .plain t => t
  | .exact t _ => t
  | .regex p _ => p

/-- The name of the kind of matcher. -/
def kind : TextMatcher → Text
  | .plain _ => "Plain"
  | .exact _ _ => "Exact"
  | .regex _ _ => "Regex"

/-- The candidate satisfies the matcher. A pattern that does not compile matches nothing. -/
def accepts (candidate : Text) : TextMatcher → Bool
  | .plain t => Text.occursIn (Text.toLower t) (Text.toLower candidate)
  | .exact t true => candidate == t
  | .exact t false => Text.toLower candidate == Text.toLower t
  | .regex p flags =>
    match Pattern.compile p flags with
    | .ok e => e.occursIn candidate
    | .error _ => false

/-! ## Specifiers -/

/-- A pattern between the first and the last slash, with flag letters behind it. -/
def regexLiteral? (raw : Text) : Option TextMatcher :=
  match raw with
  | '/' :: rest => do
    let (pattern, flags) ← Text.splitLast? '/' rest
    if flags.all Char.isAlpha && (Pattern.compile pattern flags).isOk then
      return .regex pattern flags
    else none
  | _ => none

/-- A text in double quotes, with escapes. -/
def quoted? (raw : Text) : Option Text :=
  if raw.head? = some '"' then Json.readString? raw else none

/-- A text in double quotes with `s` or `i` behind it. -/
def quotedWithCase? (raw : Text) : Option TextMatcher :=
  match Text.dropEnd? ['s'] raw with
  | some q => (quoted? q).map (.exact · true)
  | none => ((Text.dropEnd? ['i'] raw).bind quoted?).map exactIgnoreCase

/-- The matcher of a specifier. What has no other form is plain text. -/
def ofSpecifier (raw : Text) : TextMatcher :=
  ((regexLiteral? raw).or ((quotedWithCase? raw).or ((quoted? raw).map .plain))).getD (.plain raw)

/-! ## Documents -/

def toJson : TextMatcher → Json
  | .plain t => .string t
  | .exact t caseSensitive =>
    .object [("exact", .string t), ("caseSensitive", .bool caseSensitive)]
  | .regex p flags =>
    .object (("regex".toList, .string p) ::
      if flags = [] then [] else [("flags".toList, .string flags)])

open Yaml in
/-- The first form that fits: an exact text, a pattern, or plain text. -/
def ofNode? (n : Node) : Option TextMatcher := do
  let n := Node.value (← n.content?)
  let asExact? : Option TextMatcher := do
    let r ← n.mapped? ["exact", "caseSensitive"]
    return .exact (← r.required? "exact" Node.text?) (← r.required? "caseSensitive" Node.bool?)
  let asRegex? : Option TextMatcher := do
    let r ← n.mapped? ["regex", "flags"]
    return .regex (← r.required? "regex" Node.text?) (← r.defaulted? "flags" [] Node.text?)
  asExact?.or (asRegex?.or (n.text?.map .plain))

end TextMatcher

end Scenarist
