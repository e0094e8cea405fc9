import Scenarist.Selector.Recorded

/-! # Secrets

What is typed into a field whose name tells of a secret is not written into a scenario.
-/

namespace Scenarist

/-- What is written in place of a secret. -/
def mask : Text := "***"

/-- Words that tell of a secret, in whatever case. -/
def secretMarkers : List Text := ["password", "pwd", "secret"].map String.toList

/-- The text by which the element is told from others holds a word for a secret. -/
def Selector.isSecret (s : Selector) : Bool :=
  (s.element.bind Element.discriminatingText?).any fun field =>
    secretMarkers.any fun marker => (TextMatcher.plain marker).accepts field

/-- What is written for a text that was typed into the element. -/
def Selector.masked (s : Selector) (text : Text) : Text := if s.isSecret then mask else text

end Scenarist
