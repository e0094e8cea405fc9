import Scenarist.Url.Percent

/-! # Paths

A path is a list of segments. A point alone stays where it is and two points go back; both may be
written with percent signs.
-/

namespace Scenarist.Path

/-- The segment with the percent code for a point replaced. -/
def plainPoints : Text → Text
  | '%' :: '2' :: 'e' :: r => '.' :: plainPoints r
  | '%' :: '2' :: 'E' :: r => '.' :: plainPoints r
  | c :: r => c :: plainPoints r
  | [] => []

def isHere (segment : Text) : Bool := plainPoints segment == ['.']

def isBack (segment : Text) : Bool := plainPoints segment == ['.', '.']

/-- A letter and a colon or a bar. -/
def isDrive : Text → Bool
  | [a, b] => a.isAlpha && (b == ':' || b == '|')
  | _ => false

/-- The path after one segment goes back; a drive at the start is kept where there are drives. -/
def back (drives : Bool) (path : List Text) : List Text :=
  match path with
  | [d] => if drives && isDrive d then path else []
  | path => path.dropLast

/-- What a segment is written as at the end of `path`. -/
def written (drives : Bool) (path : List Text) (segment : Text) : Text :=
  if drives && path.isEmpty && isDrive segment then segment.take 1 ++ [':']
  else Percent.encode Percent.inPath segment

/-- The path after all segments. Where the last one goes nowhere, an empty segment stands. -/
def walk (drives : Bool) (path : List Text) : List Text → List Text
  | [] => path
  | segment :: r =>
    let next :=
      if isBack segment then
        if r.isEmpty then back drives path ++ [[]] else back drives path
      else if isHere segment then if r.isEmpty then path ++ [[]] else path
      else path ++ [written drives path segment]
    walk drives next r

/-- The path that a text writes behind its first slash. -/
def ofText (drives : Bool) (t : Text) : List Text := walk drives [] (Text.splitAll '/' t)

def toText (path : List Text) : Text := path.flatMap ('/' :: ·)

end Scenarist.Path
