import InjectionLint.Parse
import InjectionLint.Rule.Basic

/-!
The scan of one source text.
-/

set_option autoImplicit false

namespace InjectionLint

def detectInjection (parsed : ParsedSource) : Logged (List Warning) :=
  let warnings := Rule.detect parsed.source parsed.tree
  .after ⟨.trace, .detection, s!"{parsed.path}: {warnings.length} SQL injection warning(s)"⟩
    (.silent warnings)

def scanSource (parser : Parser) (source path : String) (variant : Variant) :
    Logged (Except ScanError Report) :=
  (parseSource parser source path variant).andThenOk fun parsed =>
    (detectInjection parsed).andThen fun warnings => .silent (.ok ⟨path, warnings⟩)

end InjectionLint
