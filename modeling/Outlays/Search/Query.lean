import Outlays.Filter

/-!
# Queries to the search index

Filters become a query over documents: each part that is not empty becomes one clause, and every
clause must match.

## Main definitions

* `Query` — the constructs of the query language that are used here
* `Query.ofFilters` — the query of some filters
* `Query.toJson` — the written form
* `Query.escapeWords` — keywords, with the operators of the query language escaped
-/

namespace Outlays

/-- A condition on a document. -/
inductive Query where
  /-- Every one of the first conditions holds and none of the second. -/
  | all (required barred : List Query)
  /-- At least one of the conditions holds. -/
  | any (conditions : List Query)
  /-- A field has the value. -/
  | term (field value : String)
  /-- A field has one of the values. -/
  | oneOf (field : String) (values : List String)
  /-- A field lies in the period. -/
  | within (field : String) (period : TimePeriod)
  /-- A field has a value. -/
  | present (field : String)
  /-- The document matches a text of the query language, all of its words. -/
  | words (text : String)
  deriving Repr

namespace Query

mutual

/-- The written form of a condition. -/
def toJson : Query → Json
  | .all required barred =>
    .obj [("bool", .obj (("filter", .arr (toJsons required)) ::
      (if barred.isEmpty then [] else [("must_not", .arr (toJsons barred))])))]
  | .any conditions =>
    .obj [("bool", .obj [("should", .arr (toJsons conditions)), ("minimum_should_match", .nat 1)])]
  | .term field value => .obj [("term", .obj [(field, .str value)])]
  | .oneOf field values => .obj [("terms", .obj [(field, .texts values)])]
  | .within field period =>
    .obj [("range", .obj [(field, .obj
      [("gte", .str period.start.render), ("lte", .str period.finish.render)])])]
  | .present field => .obj [("exists", .obj [("field", .str field)])]
  | .words text =>
    .obj [("query_string", .obj [("query", .str text), ("default_operator", .str "AND")])]

/-- The written forms of conditions. -/
def toJsons : List Query → List Json
  | [] => []
  | q :: rest => toJson q :: toJsons rest

end

/-- The characters that are operators of the query language. -/
def operators : List Char :=
  ['+', '-', '=', '&', '|', '>', '<', '!', '(', ')', '\x7b', '\x7d', '[', ']', '^', '"', '~', '*',
    '?', ':', '\\', '/']

/-- The characters of a text, with a backslash before each operator. -/
def escapeWords (cs : List Char) : List Char :=
  cs.flatMap fun c => if operators.contains c then ['\\', c] else [c]

/-- The field with the name of an agency in a role. -/
def agencyField (a : AgencyFilter) : String :=
  s!"{a.role.name}_{a.tier.name}_agency_name.keyword"

/-- The documents of a recipient: a parent's are those of its children, and those of a child have
a parent while those of a recipient that stands alone have none. -/
def ofRecipient (id : RecipientId) : Query :=
  let hash := id.hash.render
  match id.level with
  | .parent => .term "parent_recipient_hash" hash
  | .child => .all [.term "recipient_hash" hash, .present "parent_uei"] []
  | .recipient => .all [.term "recipient_hash" hash] [.present "parent_uei"]

/-- The clause of a part of the filters, if the part is not empty. -/
def clause {α : Type} (part : List α) (query : List α → Query) : List Query :=
  if part.isEmpty then [] else [query part]

/-- The clauses of filters, one for each part that is not empty. -/
def clauses (f : TransactionFilters) : List Query :=
  clause f.timePeriods (fun periods => .any (periods.map (.within "action_date")))
    ++ clause f.agencies (fun agencies => .any (agencies.map fun a => .term (agencyField a) a.name))
    ++ clause f.awardTypeCodes (.oneOf "type")
    ++ clause f.keywords (fun texts =>
      .any (texts.map fun t => .words (String.ofList (escapeWords t.toList))))
    ++ clause f.defCodes (.oneOf "disaster_emergency_fund_codes")
    ++ (f.recipientId.map ofRecipient).toList

/-- The query of filters: every part that is not empty must match. -/
def ofFilters (f : TransactionFilters) : Query := .all (clauses f) []

end Query

end Outlays
