import GridSetup.Equipment
import GridSetup.Event

/-! # Reactive capability diagrams

A generator has a usable diagram if its curve, or the limits that stand in
for a missing curve, enclose an area. Comparisons are those of floating-point
numbers, so nothing lies below or above a number that is not one. -/

namespace GridSetup

/-- The first two neighbouring points whose active powers do not increase. -/
def firstDescent? : List CurvePoint → Option (CurvePoint × CurvePoint)
  | point :: next :: rest =>
    if point.p < next.p then firstDescent? (next :: rest) else some (point, next)
  | _ => none

namespace Generator

/-- Whether a limit other than zero is set. -/
def hasLimits (generator : Generator) : Bool :=
  [generator.pMin, generator.pMax, generator.qMin, generator.qMax].any (· != 0)

/-- Whether a generator has a usable diagram; the first flaw is reported. An
empty range anywhere on a curve counts before a wrong sequence. -/
def hasDiagram (generator : Generator) : Logged Bool :=
  match generator.points with
  | [] =>
    if generator.pMin < generator.pMax ∧ generator.qMin < generator.qMax then { value := true }
    else if !generator.hasLimits then
      { value := false, events := [.unusableDiagram generator.id .absent] }
    else {
      value := false
      events := [.unusableDiagram generator.id
        (.limits generator.pMin generator.pMax generator.qMin generator.qMax)] }
  | [_] => { value := false, events := [.unusableDiagram generator.id .singlePoint] }
  | points =>
    match points.find? fun point => ¬point.qMin < point.qMax with
    | some point => {
        value := false
        events := [.unusableDiagram generator.id (.range point.qMin point.qMax point.p)] }
    | none =>
      match firstDescent? points with
      | some (point, next) =>
        { value := false, events := [.unusableDiagram generator.id (.sequence point.p next.p)] }
      | none => { value := true }

end Generator
end GridSetup
