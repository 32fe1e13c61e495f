import UrlRouting.Policy
import UrlRouting.Toml.Document

/-! # Policies in documents

A policy is the field `router` of a document in TOML; without it the policy is the default one. What
else the document says does not matter, as long as it is a document.

* `Policy.ofSource`: the policy in a text.
* `Policy.ofFile`: the policy in a file. -/

namespace UrlRouting

/-- Why a policy could not be read. -/
inductive PolicyError where
  /-- the text is no document, or its policy is none -/
  | invalid
  /-- the text of a file is invalid -/
  | unparsable (path : String)
  /-- there is no file with a text -/
  | unreadable (path : String)
  deriving DecidableEq

namespace PolicyError

/-- What went wrong, with the reasons for it after it. -/
def chain : PolicyError → List String
  | .invalid => ["invalid router configuration"]
  | .unparsable path => ["failed to parse " ++ path, "invalid router configuration"]
  | .unreadable path => ["failed to read " ++ path]

/-- What went wrong. -/
def message (error : PolicyError) : String := error.chain.headD ""

end PolicyError

/-- What a path leads to. -/
inductive Resource where
  | absent
  | directory
  | file (contents : ByteArray)

/-- The text that a path leads to: a file in UTF-8. -/
def Resource.text? : Resource → Option String
  | .file contents => String.fromUTF8? contents
  | _ => none

/-- What a policy reader sees of a value of a document. A moment has parts, but none that a policy
knows: it counts as a table without the fields of a policy. -/
def Toml.Value.shape : Toml.Value → Shape Toml.Value
  | .table fields => .table (List.lookup · fields)
  | .moment _ => .table fun _ => none
  | .array items => .list items
  | _ => .other

namespace Policy

/-- The policy that an optional value of a document is. -/
def ofDocumentValue? : Option Toml.Value → Option Policy
  | none => some {}
  | some value => decode? Toml.Value.boolean? value.shape

/-- The policy in a text. -/
def ofSource (source : String) : Except PolicyError Policy :=
  match do ofDocumentValue? ((← Toml.parse? source).lookup "router") with
  | some policy => .ok policy
  | none => .error .invalid

/-- The policy in a file. -/
def ofFile (path : String) (resource : Resource) : Except PolicyError Policy :=
  match resource.text? with
  | none => .error (.unreadable path)
  | some source => (ofSource source).mapError fun _ => .unparsable path

end Policy

end UrlRouting
