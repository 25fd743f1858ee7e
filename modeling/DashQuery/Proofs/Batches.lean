import DashQuery.Conversion

/-!
# Converting many texts

A batch of texts is converted one by one.  A text that is no query is reported and left out, and
the batch goes on.  No text has a part in what becomes of the others, so results and reports of a
batch are those of its texts, one behind the other.

* `convertAll_cons`: what one more text adds.
* `convertAll_append`: the texts behind a cut are converted as if they stood alone.
* `map_record_convertAll`: the log of a batch is the row of the logs of its texts.
* `warnings_convertAll`: it warns of the texts that are left out, once for each and in order.
* `convertAll_batch`: all of this, with the count of results and warnings.
-/

namespace DashQuery

/-- What a log holds of an event. -/
def Log.Event.record (e : Log.Event) : Log.Level × String := (e.level, e.message)

/-- Whether an event is a warning. -/
def Log.Event.isWarning (e : Log.Event) : Bool := e.level = .warn

namespace Converter

variable (c : Converter) (text : String) (texts more : List String)

/-- The conversion of a text, if it is a query. -/
def convert? : Option Converted := (c.convert text).toOption

/-- What is reported of one text. -/
def reported : List Log.Event :=
  match Query.parse text c.labels with
  | .ok q => (c.convertQuery text q).2
  | .error _ => [.notConverted text]

/-- The log of one text: a query is classified and emitted, anything else is warned of. -/
def log : List (Log.Level × String) :=
  match Query.parse text c.labels with
  | .ok q =>
    let kind := c.rules.classify q.metric
    [(.debug, "Classified " ++ q.metric ++ " as " ++ kind.name),
     (.debug, "Emitting " ++ q.aggregation.text ++ " on " ++ kind.name ++ " metric " ++ q.metric ++
       ": " ++ (Promql.Expr.ofQuery q kind c.labels).render)]
  | .error _ => [(.warn, "Could not convert query: " ++ text)]

/-! ## One text -/

theorem map_record_reported : (c.reported text).map Log.Event.record = c.log text := by
  rw [reported, log]
  cases Query.parse text c.labels with
  | ok q => rfl
  | error e => rfl

/-- The one warning of a text that is no query, and none of a query. -/
theorem warnings_reported :
    (c.reported text).filter Log.Event.isWarning =
      if (c.convert? text).isNone then [.notConverted text] else [] := by
  rw [reported, convert?, convert]
  cases Query.parse text c.labels with
  | ok q => rfl
  | error e => rfl

/-! ## Batches -/

/-- **What one more text adds to a batch.** -/
theorem convertAll_cons :
    c.convertAll (text :: texts) =
      ((c.convert? text).toList ++ (c.convertAll texts).1,
        c.reported text ++ (c.convertAll texts).2) := by
  rw [convertAll, reported, convert?, convert]
  cases Query.parse text c.labels with
  | ok q => rfl
  | error e => rfl

/-- **A batch may be cut anywhere.** -/
theorem convertAll_append :
    c.convertAll (texts ++ more) =
      ((c.convertAll texts).1 ++ (c.convertAll more).1,
        (c.convertAll texts).2 ++ (c.convertAll more).2) := by
  induction texts with
  | nil => rfl
  | cons text texts ih =>
    rw [List.cons_append, convertAll_cons, convertAll_cons, ih]
    simp only [List.append_assoc]

theorem results_convertAll : (c.convertAll texts).1 = texts.filterMap c.convert? := by
  induction texts with
  | nil => rfl
  | cons text texts ih =>
    rw [convertAll_cons, ih, List.filterMap_cons]
    cases c.convert? text with
    | none => rfl
    | some result => rfl

theorem events_convertAll : (c.convertAll texts).2 = texts.flatMap c.reported := by
  induction texts with
  | nil => rfl
  | cons text texts ih => rw [convertAll_cons, ih, List.flatMap_cons]

/-- **The log of a batch is the row of the logs of its texts.** -/
theorem map_record_convertAll :
    (c.convertAll texts).2.map Log.Event.record = texts.flatMap c.log := by
  rw [events_convertAll, List.map_flatMap]
  simp only [map_record_reported]

/-- **The warnings of a batch are those of the texts that are left out, in order.** -/
theorem warnings_convertAll :
    (c.convertAll texts).2.filter Log.Event.isWarning =
      (texts.filter fun text => (c.convert? text).isNone).map .notConverted := by
  induction texts with
  | nil => rfl
  | cons text texts ih =>
    rw [convertAll_cons, List.filter_append, warnings_reported, ih, List.filter_cons]
    split
    · rfl
    · rfl

/-- Every text is either converted or warned of. -/
theorem length_results_add_length_warnings :
    (c.convertAll texts).1.length + ((c.convertAll texts).2.filter Log.Event.isWarning).length =
      texts.length := by
  induction texts with
  | nil => rfl
  | cons text texts ih =>
    have hone : (c.convert? text).toList.length +
        ((c.reported text).filter Log.Event.isWarning).length = 1 := by
      rw [warnings_reported]
      cases c.convert? text with
      | none => rfl
      | some result => rfl
    rw [convertAll_cons, List.filter_append, List.length_append, List.length_append,
      List.length_cons]
    omega

/-- **A batch leaves nothing out, repeats nothing and keeps the order.**  Its results are the
conversions of its texts; its log is the row of the logs of its texts; it warns of the texts that
are not converted, and of nothing else; and further texts are converted behind it as they are by
themselves. -/
theorem convertAll_batch :
    (c.convertAll texts).1 = texts.filterMap (fun text => (c.convert text).toOption) ∧
      (c.convertAll texts).2.map Log.Event.record = texts.flatMap c.log ∧
      ((c.convertAll texts).2.filter Log.Event.isWarning).map Log.Event.record =
        (texts.filter fun text => (c.convert text).toOption.isNone).map
          (fun text => (.warn, "Could not convert query: " ++ text)) ∧
      (c.convertAll texts).1.length +
        ((c.convertAll texts).2.filter Log.Event.isWarning).length = texts.length ∧
      c.convertAll (texts ++ more) =
        ((c.convertAll texts).1 ++ (c.convertAll more).1,
          (c.convertAll texts).2 ++ (c.convertAll more).2) := by
  refine ⟨c.results_convertAll texts, c.map_record_convertAll texts, ?_,
    c.length_results_add_length_warnings texts, c.convertAll_append texts more⟩
  rw [warnings_convertAll, List.map_map]
  rfl

end Converter

end DashQuery
