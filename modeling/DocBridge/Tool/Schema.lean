import DocBridge.Json.Basic

/-!
# Schemas of tool arguments

A tool names its arguments, their types and which of them must be given.  The JSON form of such a
schema has its members in key order.
-/

namespace DocBridge

inductive ArgumentType where
  | string
  | integer
  | boolean
  | metadata
  | entries
deriving DecidableEq, Repr

/-- The arguments of a tool with their types. -/
structure ArgumentSchema where
  required : List (String × ArgumentType) := []
  optional : List (String × ArgumentType) := []
deriving DecidableEq, Repr

/-- The JSON form of an argument's type.  Metadata are an object of strings and lists of
strings. -/
def ArgumentType.toJson : ArgumentType → Json
  | .string => .record [("type", .string "string")]
  | .integer => .record [("type", .string "integer")]
  | .boolean => .record [("type", .string "boolean")]
  | .metadata =>
    .record [
      ("type", .string "object"),
      ("additionalProperties", .record [
        ("anyOf", .array [
          .record [("type", .string "string")],
          .record [("type", .string "array"), ("items", .record [("type", .string "string")])]])])]
  | .entries =>
    .record [("type", .string "array"), ("items", .record [("type", .string "object")])]

def ArgumentSchema.toJson (schema : ArgumentSchema) : Json :=
  .record [
    ("type", .string "object"),
    ("properties", .record ((schema.required ++ schema.optional).map fun argument =>
      (argument.1, argument.2.toJson))),
    ("required", .array (schema.required.map fun argument => .string argument.1))]

end DocBridge
