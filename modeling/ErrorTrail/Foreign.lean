import ErrorTrail.Error
import ErrorTrail.Text.Blank

/-! # Foreign errors: an error raised outside the library, read through the two texts that its
own library writes of it. -/

namespace ErrorTrail

/-- An error raised outside the library, as this library reads it: all its messages on one line,
and its full report. Both texts come from the error's own library; nothing is assumed of them. -/
structure Foreign where
  summary : String
  report : String
  deriving DecidableEq, Repr

/-- Creates an error of kind `Unexpected` from a foreign error, with its report as details.
The description given must not be blank; without one, the summary is taken, or
`unexpected error` when the summary is blank. -/
def Heap.createUnexpected (h : Heap) (x : Foreign) (description : Option String)
    (cause : Option ErrorId) : Except Violation (Heap × ErrorId) :=
  let description := match description with
    | some d => d
    | none => if Text.isBlank x.summary then "unexpected error" else x.summary
  h.createError Kind.unexpected description (some x.report) cause

end ErrorTrail
