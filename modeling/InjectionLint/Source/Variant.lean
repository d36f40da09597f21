import InjectionLint.Text.Blank

/-!
The dialects of source files, told apart by file extension, and the grammars that read them.
-/

set_option autoImplicit false

namespace InjectionLint

inductive Variant where
  | javascript
  | jsx
  | typescript
  | tsx
  deriving DecidableEq, Repr

/-- Grammars of the parser. Plain JavaScript and JSX share one. -/
inductive Grammar where
  | javascript
  | typescript
  | tsx
  deriving DecidableEq, Repr

namespace Variant

def name : Variant → String
  | .javascript => "javascript"
  | .jsx => "jsx"
  | .typescript => "typescript"
  | .tsx => "tsx"

def ofName? : String → Option Variant
  | "javascript" => some .javascript
  | "jsx" => some .jsx
  | "typescript" => some .typescript
  | "tsx" => some .tsx
  | _ => none

def ofExtension? (extension : String) : Option Variant :=
  match String.ofList (Text.asciiLower extension.toList) with
  | "js" | "mjs" | "cjs" => some .javascript
  | "jsx" => some .jsx
  | "ts" | "mts" | "cts" => some .typescript
  | "tsx" => some .tsx
  | _ => none

def grammar : Variant → Grammar
  | .javascript | .jsx => .javascript
  | .typescript => .typescript
  | .tsx => .tsx

/-- The grammar to try when the dialect's own grammar finds damage. TSX reads JSX together with type
annotations, so it also reads plain JavaScript that carries some. -/
def typedFallback? : Variant → Option Grammar
  | .javascript | .jsx => some .tsx
  | .typescript | .tsx => none

end Variant

end InjectionLint
