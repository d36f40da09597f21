/-!
Glob patterns over paths. A question mark stands for one character, a star for any run of characters,
two stars that fill a path component for any run of components, and brackets for one character of a
class. Wildcards and classes also match separators and leading dots.

A match is decided from left to right. `Verdict.exhausted` says that the path ended before a
character that the pattern needs: no wildcard further left can help by taking more.
-/

set_option autoImplicit false

namespace InjectionLint

namespace Glob

inductive Member where
  | single (c : Char)
  | span (first last : Char)
  deriving DecidableEq, Repr

inductive Token where
  | literal (c : Char)
  | anyChar
  | anyRun
  | anyComponents
  | among (members : List Member)
  | except (members : List Member)
  deriving DecidableEq, Repr

inductive Reason where
  | stars
  | component
  | bracket
  deriving DecidableEq, Repr

/-- A malformed pattern, and the number of characters before the fault. -/
structure Fault where
  position : Nat
  reason : Reason
  deriving DecidableEq, Repr

def Reason.message : Reason → String
  | .stars => "wildcards are either regular `*` or recursive `**`"
  | .component => "recursive wildcards must form a single path component"
  | .bracket => "invalid range pattern"

def Fault.message (fault : Fault) : String :=
  s!"Pattern syntax error near position {fault.position}: {fault.reason.message}"

def isSeparator (c : Char) : Bool :=
  c = '/'

/-- The items of a bracketed class, `a-z` being a span wherever three characters are left. -/
def members : List Char → List Member
  | first :: '-' :: last :: rest => .span first last :: members rest
  | c :: rest => .single c :: members rest
  | [] => []

/-- The class that an opening bracket begins, and how many characters it takes after the bracket.
The first character of the class may be a closing bracket. -/
def bracket? : List Char → Option (Token × Nat)
  | '!' :: first :: rest =>
    if ']' ∈ rest then
      let tail := rest.takeWhile (· ≠ ']')
      some (.except (members (first :: tail)), tail.length + 3)
    else none
  | '!' :: [] => none
  | first :: rest =>
    if ']' ∈ rest then
      let tail := rest.takeWhile (· ≠ ']')
      some (.among (members (first :: tail)), tail.length + 2)
    else none
  | [] => none

/-- Two adjacent wildcards for components are one, except at the very start of a pattern. -/
def pushComponents (reversed : List Token) : List Token :=
  match reversed with
  | .anyComponents :: _ :: _ => reversed
  | _ => .anyComponents :: reversed

/-- Read a pattern from `position` on. `skip` characters belong to the token read last, `before` is
the character before, and `reversed` holds the tokens so far. -/
def parseFrom (position skip : Nat) (before : Option Char) (reversed : List Token) :
    List Char → Except Fault (List Token)
  | [] => .ok reversed.reverse
  | c :: rest =>
    let proceed (taken : Nat) (tokens : List Token) :=
      parseFrom (position + 1) taken (some c) tokens rest
    match skip with
    | left + 1 => proceed left reversed
    | 0 =>
      match c with
      | '?' => proceed 0 (.anyChar :: reversed)
      | '*' =>
        match (rest.takeWhile (· = '*')).length with
        | 0 => proceed 0 (.anyRun :: reversed)
        | 1 =>
          if before.all isSeparator then
            match rest.drop 1 with
            | [] => proceed 1 (pushComponents reversed)
            | next :: _ =>
              if isSeparator next then proceed 2 (pushComponents reversed)
              else .error ⟨position + 2, .component⟩
          else .error ⟨position - 1, .component⟩
        | _ => .error ⟨position + 2, .stars⟩
      | '[' =>
        match bracket? rest with
        | some (token, taken) => proceed taken (token :: reversed)
        | none => .error ⟨position, .bracket⟩
      | c => proceed 0 (.literal c :: reversed)

def parse (pattern : String) : Except Fault (List Token) :=
  parseFrom 0 0 none [] pattern.toList

inductive Verdict where
  | matched
  | mismatch
  | exhausted
  deriving DecidableEq, Repr

def Member.holds (c : Char) : Member → Bool
  | .single member => c = member
  | .span first last => first ≤ c && c ≤ last

def Token.accepts (c : Char) : Token → Bool
  | .literal expected => c = expected
  | .among members => members.any (·.holds c)
  | .except members => !members.any (·.holds c)
  | .anyChar | .anyRun | .anyComponents => true

/-- Try a pattern here and after each further character, until one attempt settles the matter. -/
def afterRun (next : List Char → Verdict) : List Char → Verdict
  | [] => next []
  | c :: rest =>
    match next (c :: rest) with
    | .mismatch => afterRun next rest
    | verdict => verdict

/-- Try a pattern after each further separator, and at the end of the path. -/
def afterSeparators (next : List Char → Verdict) : List Char → Verdict
  | [] => next []
  | c :: rest =>
    if isSeparator c then
      match next rest with
      | .mismatch => afterSeparators next rest
      | verdict => verdict
    else afterSeparators next rest

def matchFrom : List Token → List Char → Verdict
  | [], [] => .matched
  | [], _ :: _ => .mismatch
  | .anyRun :: tokens, path => afterRun (matchFrom tokens) path
  | .anyComponents :: tokens, path =>
    match matchFrom tokens path with
    | .mismatch => afterSeparators (matchFrom tokens) path
    | verdict => verdict
  | _ :: _, [] => .exhausted
  | token :: tokens, c :: rest => if token.accepts c then matchFrom tokens rest else .mismatch

/-- Whether a pattern matches a path. A malformed pattern matches nothing. -/
def accepts (pattern path : String) : Bool :=
  match parse pattern with
  | .ok tokens => matchFrom tokens path.toList = .matched
  | .error _ => false

end Glob

end InjectionLint
