import InjectionLint.Log
import InjectionLint.Text.Blank

/-!
Which log records are shown. A filter is a list of directives, each a level for the components whose
name starts in some way; the directive with the longest name that fits decides. A filter is written as
directives between commas, `name=level`, a bare name or a bare level, and may end in a slash and a text
that the shown records have to contain. Parts that cannot be read are left out with a complaint.
-/

set_option autoImplicit false

namespace InjectionLint

namespace Log

/-- The most detailed level shown; none shows nothing. -/
abbrev Threshold := Option Level

def Threshold.ofName? (name : List Char) : Option Threshold :=
  match String.ofList (Text.asciiLower name) with
  | "off" => some none
  | "error" => some (some .error)
  | "warn" => some (some .warn)
  | "info" => some (some .info)
  | "debug" => some (some .debug)
  | "trace" => some (some .trace)
  | _ => none

def Threshold.admits (threshold : Threshold) (level : Level) : Bool :=
  threshold.any fun greatest => level.rank ≤ greatest.rank

structure Directive where
  name : Option (List Char)
  threshold : Threshold
  deriving DecidableEq, Repr

namespace Directive

def reach (directive : Directive) : Nat :=
  (directive.name.map Text.byteLength).getD 0

def covers (directive : Directive) (target : List Char) : Bool :=
  match directive.name with
  | none => true
  | some name => name.isPrefixOf target

end Directive

inductive FilterFault where
  | tooManySlashes (written : String)
  | badDirective (written : String)
  deriving DecidableEq, Repr

def FilterFault.message : FilterFault → String
  | .tooManySlashes written => s!"invalid logging spec '{written}' (too many '/'s)"
  | .badDirective written => s!"invalid logging spec '{written}'"

structure Filter where
  /-- At most one directive for each name. -/
  directives : List Directive
  needle : List Char
  deriving DecidableEq, Repr

namespace Filter

def ofThreshold (threshold : Threshold) : Filter :=
  ⟨[⟨none, threshold⟩], []⟩

def insert (directive : Directive) : List Directive → List Directive
  | [] => [directive]
  | other :: rest =>
    if other.name = directive.name then directive :: rest else other :: insert directive rest

def readDirective (written : List Char) : Except FilterFault Directive :=
  match Text.splitAt '=' written with
  | [word] =>
    match Threshold.ofName? word with
    | some threshold => .ok ⟨none, threshold⟩
    | none => .ok ⟨some word, some .trace⟩
  | [name, level] =>
    let level := Text.trim level
    if level.isEmpty then .ok ⟨some name, some .trace⟩
    else
      match Threshold.ofName? level with
      | some threshold => .ok ⟨some name, threshold⟩
      | none => .error (.badDirective (String.ofList level))
  | _ => .error (.badDirective (String.ofList written))

def addDirectives (filter : Filter) : List (List Char) → Filter × List FilterFault
  | [] => (filter, [])
  | written :: rest =>
    match readDirective written with
    | .ok directive =>
      addDirectives { filter with directives := insert directive filter.directives } rest
    | .error fault =>
      let (filter, faults) := addDirectives filter rest
      (filter, fault :: faults)

def written (list : List Char) : List (List Char) :=
  ((Text.splitAt ',' list).map Text.trim).filter fun part => !part.isEmpty

def refine (filter : Filter) (spec : String) : Filter × List FilterFault :=
  match Text.splitAt '/' spec.toList with
  | [list] => filter.addDirectives (written list)
  | [list, needle] => { filter with needle := needle }.addDirectives (written list)
  | _ => (filter, [.tooManySlashes spec])

/-- The threshold for a target: that of the directive with the longest name that fits, the last one of
these. -/
def threshold (filter : Filter) (target : List Char) : Threshold :=
  let bySpecificity := filter.directives.mergeSort fun first second => first.reach ≤ second.reach
  ((bySpecificity.reverse.find? (·.covers target)).map (·.threshold)).getD none

def admits (filter : Filter) (record : Record) : Bool :=
  (filter.threshold record.component.target.toList).admits record.level &&
    Text.occurs filter.needle record.text.toList

end Filter

def Record.render (record : Record) : String :=
  let level := record.level.name ++ String.ofList (List.replicate (5 - record.level.name.length) ' ')
  let lines := (Text.splitAt '\n' record.text.toList).map String.ofList
  s!"[{level} {record.component.target}] " ++ "\n    ".intercalate lines ++ "\n"

end Log

end InjectionLint
