import InjectionLint.Tree.Basic

/-!
The first fault of a tree in document order. The search trusts the parser's damage marks: it looks
only below nodes that carry one.
-/

set_option autoImplicit false

namespace InjectionLint

structure Damage where
  fault : Fault
  kind : Kind
  start : Nat
  deriving DecidableEq, Repr

namespace Tree

mutual

def firstDamage? : Tree → Option Damage
  | .node label children =>
    if label.damaged then
      match label.fault with
      | some fault => some ⟨fault, label.kind, label.start⟩
      | none => forestDamage? children
    else none

def forestDamage? : List Tree → Option Damage
  | [] => none
  | tree :: rest => (firstDamage? tree).or (forestDamage? rest)

end

end Tree

end InjectionLint
