import Ariava.Lib.Dict
import Ariava.Protocol.CodeUnits
import Ariava.Protocol.ProtectedContent
import Ariava.Protocol.RequestSigning

/-!
# `Ariava.Protocol.SessionSnapshots`: the semantic digest of the current Sessions

`e2eCurrentSessionsSemanticDigestV1` of `session-snapshots.ts`. The Sessions are written as
canonical JSON: the members of an object in the order of their keys, and the Sessions in the order
of their ids. The text goes through `contentSha256`, which has a limit of its own.

A Session is the object that is passed, with its own properties in order. All its properties that
are read here are texts. A property that is `undefined` is absent.
-/

set_option autoImplicit false

namespace Ariava.Protocol

open Ariava.Lib

/-! ### Canonical JSON -/

/-- The values that are written here. -/
inductive JsonTree
  | text (value : String)
  | array (items : List JsonTree)
  | object (members : List (String × JsonTree))

/-- `stableJson` of an array, given its items as JSON. -/
def stableArray (items : List String) : String := "[" ++ String.intercalate "," items ++ "]"

/-- The members of an object in the order of their keys. -/
def sortMembers (members : List (String × String)) : List (String × String) :=
  members.mergeSort fun left right => (compareCanonicalStrings left.1 right.1).isLE

/-- `stableJson` of an object, given its members as JSON. -/
def stableObject (members : List (String × String)) : String :=
  "\x7b" ++ String.intercalate "," ((sortMembers members).map fun member =>
    jsonText member.1 ++ ":" ++ member.2) ++ "\x7d"

/-- `stableJson`. -/
def stableJson : JsonTree → String
  | .text value => jsonText value
  | .array items => stableArray (items.map stableJson)
  | .object members => stableObject (members.map fun member => (member.1, stableJson member.2))
termination_by value => sizeOf value
decreasing_by
  · have hsize := List.sizeOf_lt_of_mem ‹_›
    rw [JsonTree.array.sizeOf_spec]
    omega
  · next hmember =>
    have hsize := List.sizeOf_lt_of_mem hmember
    obtain ⟨key, value⟩ := member
    rw [Prod.mk.sizeOf_spec] at hsize
    rw [JsonTree.object.sizeOf_spec]
    dsimp only
    omega

/-! ### Semantic Sessions -/

/-- A Session as it is passed: its properties, with a `sessionId` among them. -/
structure SessionObject where
  properties : Dict String String
  hasSessionId : properties.contains "sessionId" = true

/-- The properties that are part of the semantic content. -/
def semanticFields : List String :=
  ["sessionId", "provider", "projectName", "nameText", "openingText", "latestActivityText",
    "workingDirectory", "harnessProvider", "status", "lastEventId", "snoozedUntil"]

/-- The object of a Session with the semantic properties that are present. -/
def semanticSession (value : SessionObject) : List (String × String) :=
  semanticFields.filterMap fun field =>
    (value.properties.get? field).map fun text => (field, text)

/-- The `sessionId` of a semantic object. -/
def semanticSessionId (session : List (String × String)) : String :=
  (session.lookup "sessionId").getD ""

/-- The semantic objects in the order of their ids. -/
def sortSessions (sessions : List (List (String × String))) : List (List (String × String)) :=
  sessions.mergeSort fun left right =>
    (compareCanonicalStrings (semanticSessionId left) (semanticSessionId right)).isLE

/-- A semantic object as a value. -/
def sessionTree (session : List (String × String)) : JsonTree :=
  .object (session.map fun member => (member.1, .text member.2))

/-- The text that is hashed. -/
def semanticText (hostId : String) (sessions : List SessionObject) : String :=
  stableJson (.object [("hostId", .text hostId),
    ("sessions", .array ((sortSessions (sessions.map semanticSession)).map sessionTree))])

/-- `e2eCurrentSessionsSemanticDigestV1`. -/
def e2eCurrentSessionsSemanticDigestV1 (digest : JsString → JsString) (hostId : String)
    (sessions : List SessionObject) : Except Thrown JsString :=
  contentSha256 digest (jsString (semanticText hostId sessions))

end Ariava.Protocol
