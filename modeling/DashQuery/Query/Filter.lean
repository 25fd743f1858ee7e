import DashQuery.Label.Table
import DashQuery.Promql.Matcher
import DashQuery.Query.Lexer
import DashQuery.Text.Blank

/-!
# Filters

A selector is a list of tokens between commas.  A token `key:value` is a filter, with a `!` in
front if it is negated; a token that begins with `$` is a template variable and filters nothing.
A value with `*` or `?` is a glob.
-/

namespace DashQuery.Query

/-- A condition on one attribute. -/
structure Filter where
  /-- The attribute, not yet renamed. -/
  key : String
  value : String
  negated : Bool
  /-- Whether the value is a glob. -/
  wildcard : Bool
  deriving DecidableEq, Repr

/-- Whether a character of a value stands for other characters. -/
def isWildcardChar (c : Char) : Bool := c == '*' || c == '?'

/-- The sign of a negation in front of a text, and the text without it. -/
def splitNegation : List Char → Bool × List Char
  | '!' :: cs => (true, cs)
  | cs => (false, cs)

namespace Filter

/-- The filter that a token stands for, if it is one. -/
def ofToken? (token : List Char) : Option Filter :=
  let (negated, body) := splitNegation (Text.trim token)
  if body.head? = some '$' then none
  else
    (Text.cut? ':' body).map fun (key, value) =>
      { key := String.ofList key
        value := String.ofList value
        negated := negated
        wildcard := value.any isWildcardChar }

/-- The filter that a text stands for, if it is one. -/
def parse? (text : String) : Option Filter := ofToken? text.toList

/-- The regular expression of a glob: `*` becomes `.*` and `?` becomes `.`. -/
def globPattern (value : String) : String :=
  String.ofList (Text.replaceChar '?' ['.'] (Text.replaceChar '*' ['.', '*'] value.toList))

/-- The matcher of a filter, on the label of its attribute. -/
def matcher (f : Filter) (table : Label.Table) : Promql.Matcher :=
  let label := table.labelOf f.key
  match f.wildcard, f.negated with
  | true, false => ⟨label, .regexMatch, globPattern f.value⟩
  | true, true => ⟨label, .regexNotMatch, globPattern f.value⟩
  | false, true => ⟨label, .notEqual, f.value⟩
  | false, false => ⟨label, .equal, f.value⟩

end Filter

/-- The filters of a selector, in order. -/
def filtersOfSelector (selector : List Char) : List Filter :=
  (selector.splitOn ',').filterMap Filter.ofToken?

/-- The filters in the selector of a query text, in order. -/
def selectorFilters (text : String) : List Filter :=
  match selector? text.toList with
  | some selector => filtersOfSelector selector
  | none => []

/-- The matchers of filters, joined as they stand in a PromQL selector. -/
def renderFilters (fs : List Filter) (table : Label.Table) : String :=
  Text.join ", " (fs.map fun f => (f.matcher table).render)

end DashQuery.Query
