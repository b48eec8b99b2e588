import NodeImage.Data.Json
import NodeImage.Text.Base64
import NodeImage.Fault

/-!
# Answers

The answer to a request is a document value written as JSON. Values that JSON has no form
for are written as small objects: a date as `$date`, a timestamp as `$datetime`, raw bytes
as `$bytes_b64`, a double with no decimal as `$float`, a set as `$set` holding the JSON
texts of its items in order; a mapping key that
is not text becomes the JSON text of the key.

A fault is answered by the name of its kind under `error` and its text under `message`;
a fault that wraps a cause also names the cause's kind under `cause` and shows its text as
`<cause>`, and the catalog, cache, template and resolution faults list the values they
concern under `attrs`.
-/

namespace NodeImage.Service

/-- An object with text keys. -/
def obj (fields : List (String × Value)) : Value :=
  .map (fields.map fun f => (.str f.1, f.2))

/-- Text, or null. -/
def textOrNull : Option String → Value
  | some s => .str s
  | none => .null

/-- How answers write the values that JSON has no form for. -/
def answerEncoding : Json.Encoding where
  scalar
    | .date d => some (obj [("$date", .str d.isoText)])
    | .dateTime t => some (obj [("$datetime", .str t.isoText)])
    | .bytes b => some (obj [("$bytes_b64", .str (Text.Base64.encode b))])
    | .float x =>
      if x.isNaN then some (obj [("$float", .str "nan")])
      else if x.isInf then some (obj [("$float", .str (if x < 0 then "-inf" else "inf"))])
      else none
    | _ => none
  set items := obj [("$set", .seq ((items.map Json.write).mergeSort (fun a b => decide (a ≤ b)) |>.map Value.str))]

/-- The JSON text of an answer. -/
def render (answer : Value) : String := Json.write (answerEncoding.apply answer)

/-- The place of an issue as a list of names and positions. -/
def stepValue : Schema.Step → Value
  | .name s => .str s
  | .index i => .int i

/-- The list of issues of a failed check. -/
def issuesValue (issues : List Schema.Issue) : Value :=
  .seq (issues.map fun i => obj [("loc", .seq (i.loc.map stepValue)), ("type", .str i.kind.code)])

/-- The fields of the answer to a fault: its kind; its text, with a wrapped failure shown as
`<cause>` and named under `cause`; the issues of a failed check under `errors`; the values
it concerns under `attrs`. A failed check of a request and a malformed YAML text have no
text. -/
def faultFields (f : Fault) : List (String × Value) :=
  let issues := match f with
    | .invalid list => [("errors", issuesValue list)]
    | _ => match f.cause with
      | some (.issues list) => [("errors", issuesValue list)]
      | _ => []
  let message := match f with
    | .invalid _ | .yamlMalformed => []
    | _ => [("message", Value.str (f.messageWith (if f.causeKind.isSome then "<cause>" else "")))]
  let cause := match f.causeKind with
    | some k => [("cause", Value.str k)]
    | none => []
  let attrs := match f.attrs with
    | some fields => [("attrs", obj fields)]
    | none => []
  [("error", .str f.kind)] ++ message ++ cause ++ issues ++ attrs

/-- The answer to a fault. -/
def faultAnswer (f : Fault) : Value := obj (faultFields f)

end NodeImage.Service
