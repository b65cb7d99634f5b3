import Wordsheet.Yaml.Scalar

/-! # Parts of a document

A document is taken apart before its values are told, so that one that is malformed
anywhere has no value, whatever its parts spell. Of several parts without a value the
first one tells why there is none.
-/

namespace Wordsheet.Yaml

/-- A part of a document: texts without and in quotes, bytes as they are spelled, and what holds
other parts. -/
inductive Node where
  | plain (cs : List Char)
  | quoted (cs : List Char)
  | binary (cs : List Char)
  | list (items : List Node)
  | mapping (fields : List (Node × Node))
  | set (fields : List (Node × Node))

namespace Node

def missing : Node :=
  .plain []

/-- A part under a tag: a text that spells bytes, or a mapping whose keys are a set. -/
def tagged? (tag : List Char) (node : Node) : Option Node :=
  match node with
  | .plain cs | .quoted cs => if tag == "!!binary".toList then some (.binary cs) else none
  | .mapping fields => if tag == "!!set".toList then some (.set fields) else none
  | _ => none

mutual

def value : Node → Except ReadError Yaml
  | .plain cs => ofPlain cs
  | .quoted cs => .ok (.text (String.ofList cs))
  | .binary cs =>
      match decodeBytes? cs with
      | some decoded => .ok (.bytes decoded)
      | none => .error .malformed
  | .list items => (itemValues items).map .list
  | .mapping fields => (fieldValues fields).map fun fields => .mapping (fieldsOf fields)
  | .set fields => (fieldValues fields).map fun fields => .set ((fieldsOf fields).map (·.1))

def itemValues : List Node → Except ReadError (List Yaml)
  | [] => .ok []
  | item :: rest => do
      let item ← value item
      return item :: (← itemValues rest)

/-- The values of fields, each of which has a key that can be one. -/
def fieldValues : List (Node × Node) → Except ReadError (List (Yaml × Yaml))
  | [] => .ok []
  | (key, content) :: rest => do
      let key ← value key
      if !key.isKey then throw .malformed
      let content ← value content
      return (key, content) :: (← fieldValues rest)

end

end Node

end Wordsheet.Yaml
