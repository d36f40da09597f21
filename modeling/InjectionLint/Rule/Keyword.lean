import InjectionLint.Text.Lowercase

/-!
Words that make a text look like a query, in any case of their letters.
-/

set_option autoImplicit false

namespace InjectionLint

namespace Keyword

def mentions (word : String) (text : String) : Bool :=
  Text.occurs word.toList (Text.lowercase text.toList)

def hasStatement (text : String) : Bool :=
  mentions "select" text || mentions "delete" text || mentions "update" text

def hasWhere (text : String) : Bool :=
  mentions "where" text

def hasAny (text : String) : Bool :=
  hasStatement text || hasWhere text

end Keyword

end InjectionLint
