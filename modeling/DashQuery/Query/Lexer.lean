import DashQuery.Query.Aggregation
import DashQuery.Text.Scan

/-!
# The parts of a query text

```
AGGREGATION:metric.name{filter,filter} by {attribute,attribute}.modifier()
└─ token ─┘ └─ metric ┘└── selector ─┘    └──── by clause ─────┘
```

Every part is found by a scan of its own over the whole text.  Braces do not nest: an opening brace
is closed by the first closing brace behind it.
-/

namespace DashQuery.Query

/-- The text in front of the first closing brace, if there is one. -/
def block? (cs : List Char) : Option (List Char) :=
  if cs.contains '}' then some (Text.before '}' cs) else none

/-- The text in the braces that the first opening brace opens. -/
def selector? (cs : List Char) : Option (List Char) := (Text.after? '{' cs).bind block?

/-- What opens a by clause. -/
def byOpening : List Char := ['b', 'y', ' ', '{']

/-- The text in the first braces after `by ` that are closed and not empty. -/
def byClause? : List Char → Option (List Char)
  | [] => none
  | c :: cs =>
    match (Text.stripPrefix? byOpening (c :: cs)).bind block? with
    | some (d :: clause) => some (d :: clause)
    | _ => byClause? cs

/-- The aggregations that are named by a word. -/
def aggregationWords : List String := ["count", "avg", "sum", "max", "min"]

/-- Whether a token has the form of an aggregation: one of the words, or `p` and digits. -/
def isAggregationToken (token : List Char) : Bool :=
  aggregationWords.any (·.toList == token) ||
    (token.head? == some 'p' && Aggregation.isRank token.tail)

/-- The token before the first colon and the text of the metric behind it, if the token has the
form of an aggregation and the metric is not empty.  The metric ends at the first opening brace. -/
def head? (cs : List Char) : Option (List Char × List Char) :=
  match Text.cut? ':' cs with
  | none => none
  | some (token, rest) =>
    let metric := Text.before '{' rest
    if isAggregationToken token && !metric.isEmpty then some (token, metric) else none

/-- Whether a character belongs to the words of a label. -/
def isLabelChar (c : Char) : Bool := c.isAlphanum || c == '_'

/-- Whether a text begins with a wildcard. -/
def startsWithWildcard : List Char → Bool
  | '*' :: _ => true
  | '?' :: _ => true
  | _ => false

/-- The labels in front of the colons that a wildcard follows.  `label` is the longest text before
the place, reversed, that can still become a label: words joined by single dots. -/
def wildcardLabelsFrom (label : List Char) : List Char → List (List Char)
  | [] => []
  | c :: cs =>
    if isLabelChar c then wildcardLabelsFrom (c :: label) cs
    else
      let ended := label.head?.any isLabelChar
      if c = '.' ∧ ended then wildcardLabelsFrom (c :: label) cs
      else if c = ':' ∧ ended ∧ startsWithWildcard cs then
        label.reverse :: wildcardLabelsFrom [] cs
      else wildcardLabelsFrom [] cs

/-- The labels of a selector that a wildcard follows, in the order of their places. -/
def wildcardLabels (cs : List Char) : List (List Char) := wildcardLabelsFrom [] cs

/-- What asks for the total of a count. -/
def asCountText : String := ".as_count()"

/-- What asks for the rate of a count. -/
def asRateText : String := ".as_rate()"

end DashQuery.Query
