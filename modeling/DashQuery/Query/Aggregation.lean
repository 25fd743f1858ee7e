import DashQuery.Decimal.Reading

/-!
# Aggregations

A query begins with the way in which it aggregates: `count`, `avg`, `sum`, `max`, `min`, or `p`
and the rank of a percentile.  The digits of a rank are kept as they are written, so `p095` and
`p95` are different aggregations with the same quantile.

* `ofToken?_text`: an aggregation is read back from its text.
* `text_of_ofToken?`: no text is read as an aggregation with another text.
-/

namespace DashQuery.Query

/-- How the values of a metric are aggregated. -/
inductive Aggregation where
  | count
  | avg
  | sum
  | max
  | min
  /-- The percentile whose rank is written with these digits. -/
  | percentile (rank : String)
  deriving DecidableEq, Repr

namespace Aggregation

/-- Whether a text can be the rank of a percentile. -/
def isRank (cs : List Char) : Bool := !cs.isEmpty && cs.all Char.isDigit

/-- The aggregation that a token names. -/
def ofToken? (token : List Char) : Option Aggregation :=
  if token = "count".toList then some count
  else if token = "avg".toList then some avg
  else if token = "sum".toList then some sum
  else if token = "max".toList then some max
  else if token = "min".toList then some min
  else
    match token with
    | 'p' :: rank => if isRank rank then some (percentile (String.ofList rank)) else none
    | _ => none

/-- The text of an aggregation. -/
def text : Aggregation → String
  | count => "count"
  | avg => "avg"
  | sum => "sum"
  | max => "max"
  | min => "min"
  | percentile rank => "p" ++ rank

/-- The rank of a percentile as a fraction of one, every digit being added in floating-point
arithmetic. -/
def quantileOfRank (rank : String) : Float :=
  rank.toList.foldl (fun x c => x * 10 + Float.ofNat (Decimal.digitValue c)) 0 / 100

/-- The quantile that a percentile asks for. -/
def quantile? : Aggregation → Option Float
  | percentile rank => some (quantileOfRank rank)
  | _ => none

/-- No text is read as an aggregation with another text. -/
theorem text_of_ofToken? {token : List Char} {a : Aggregation} (h : ofToken? token = some a) :
    a.text.toList = token := by
  unfold ofToken? at h
  split at h
  · next ht => cases h; exact ht.symm
  · split at h
    · next ht => cases h; exact ht.symm
    · split at h
      · next ht => cases h; exact ht.symm
      · split at h
        · next ht => cases h; exact ht.symm
        · split at h
          · next ht => cases h; exact ht.symm
          · split at h
            · split at h
              · cases h; simp [text]
              · cases h
            · cases h

/-- An aggregation is read back from its text if its rank is made of digits. -/
theorem ofToken?_text {a : Aggregation} (h : ∀ rank, a = percentile rank → isRank rank.toList) :
    ofToken? a.text.toList = some a := by
  cases a with
  | percentile rank =>
    have hr := h rank rfl
    simp [text, ofToken?, hr]
  | _ => decide

end Aggregation

end DashQuery.Query
