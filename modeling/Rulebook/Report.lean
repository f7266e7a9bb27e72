import Rulebook.Issue
import Rulebook.Refusal
import Rulebook.Signature

/-!
# Reports

Reports made in code from named fields, and the response that tells a tenant about a report. A
response has a fixed form: its code and its message are texts, its details are a mapping.

## Main definitions

* `Report.ofFields?`: a report of a family from named fields;
* `Report.response?`: what is responded, or what does not fit.
-/

namespace Rulebook

namespace Family

/-- The fields that a report of a family is made from. -/
def signature : Family → Signature
  | service => ⟨"service", ["code", "message"], ["details"]⟩
  | validation => ⟨"validation", [], ["message", "details"]⟩
  | definition => ⟨"definition", [], ["message", "details"]⟩
  | template => ⟨"template", ["category"], ["name", "details"]⟩

/-- The message of a report that is given none. -/
def defaultMessage : Family → String
  | validation => "Validation failed"
  | definition => "Invalid rule definition"
  | _ => ""

end Family

namespace Report

/-- The message of a report of a family. -/
def messageOf? (family : Family) (b : Bound Value) : Except Fault Value :=
  match family with
  | .template =>
    let category := b.getD "category" .null
    let name := b.getD "name" .null
    (Refusal.target? category name).map fun _ =>
      .text (Refusal.templateMissing category name).message
  | family => .ok (b.getD "message" (.text family.defaultMessage))

/-- A report of a family from named fields. -/
def ofFields? (family : Family) (fields : List (String × Value)) : Except Fault Report := do
  let b ← family.signature.bind? [] fields
  return {
    family
    code := (family.code?.map Value.text).getD (b.getD "code" .null)
    message := ← messageOf? family b
    details := (b.getD "details" .null).orElse (.mapping []) }

/-- The issue of a part that is no text. -/
def textIssue (name : String) (v : Value) : List Issue :=
  match v with
  | .text _ => []
  | _ => [⟨[name], .notText⟩]

/-- The issue of a part that is no mapping. -/
def mappingIssue (name : String) (v : Value) : List Issue :=
  if v.isMapping then [] else [⟨[name], .notMapping⟩]

/-- What does not fit the form of a response. -/
def issues (r : Report) (requestId : Value) : List Issue :=
  (if requestId.isNull then [] else textIssue "request_id" requestId) ++
    textIssue "code" r.code ++ textIssue "message" r.message ++ mappingIssue "details" r.details

/-- The response to the request of an id, or what does not fit. -/
def response? (r : Report) (requestId : Value) : Except (List Issue) Value :=
  match r.issues requestId with
  | [] => .ok (.mapping [("request_id", requestId), ("code", r.code), ("message", r.message),
      ("details", r.details)])
  | issues => .error (Issue.sort issues)

end Report

end Rulebook
