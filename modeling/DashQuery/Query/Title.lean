import DashQuery.Query.Basic
import DashQuery.Text.Case

/-!
# Titles

The title of a query names what it is grouped by, and how it aggregates if it has no by clause:
`By Subgraph name`, `By name, kind`, `Total`, `P95`.
-/

namespace DashQuery.Query

/-- The title of a text that is no query. -/
def fallbackTitle : String := "Query"

/-- Whether a word ends and the next one begins between two letters. -/
def isCamelBoundary (a b : Char) : Bool := a.isLower && b.isUpper

/-- The text with a space between the letters of every camel-case boundary.  The search goes on
behind the two letters that it finds. -/
def spaceCamel : List Char → List Char
  | a :: b :: cs =>
    if isCamelBoundary a b then a :: ' ' :: b :: spaceCamel cs else a :: spaceCamel (b :: cs)
  | cs => cs

/-- The words of an attribute: dots are spaces, and camel case is taken apart. -/
def attributeWords (source : List Char) : List Char :=
  spaceCamel (Text.replaceChar '.' [' '] source)

/-- The part of an attribute behind its last dot. -/
def attributeLeaf (source : List Char) : List Char :=
  (source.reverse.takeWhile (· != '.')).reverse

/-- The title of an aggregation. -/
def Aggregation.title : Aggregation → String
  | .count => "Total"
  | a => String.ofList (Text.capitalize a.text.toList)

/-- The title of a query. -/
def title (q : Query) : String :=
  match q.byClause with
  | [] => q.aggregation.title
  | [source] => "By " ++ String.ofList (Text.capitalize (attributeWords source.toList))
  | sources => "By " ++ Text.join ", " (sources.map fun s => String.ofList (attributeLeaf s.toList))

/-- The title of a query text. -/
def titleOfText (text : String) : String :=
  match parse text .empty with
  | .ok q => q.title
  | .error _ => fallbackTitle

end DashQuery.Query
