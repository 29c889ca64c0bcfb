import PullComment.Schema.Record

namespace PullComment.Schema

inductive Medium where
  | json
  | memory
  deriving DecidableEq, Repr

inductive Segment where
  | field (name : String)
  | index (i : Nat)
  deriving DecidableEq, Repr

inductive Cause where
  | invalidJson
  | notAModel (model : Model)
  | outcomeNotAnObject
  | notAList
  | notAString
  | notUnicode
  | tooShort
  | missing
  | unknownField
  | wrongKind (expected : Kind)
  | tagMissing
  | tagUnknown (shown : String)
  | frozen
  deriving DecidableEq, Repr

structure Violation where
  place : List Segment
  cause : Cause
  deriving DecidableEq, Repr

def Violation.under (segment : Segment) (v : Violation) : Violation :=
  { v with place := segment :: v.place }

namespace Cause

def code (medium : Medium) : Cause → String
  | .invalidJson => "json_invalid"
  | .notAModel _ => "model_type"
  | .outcomeNotAnObject =>
      match medium with
      | .json => "dict_type"
      | .memory => "model_attributes_type"
  | .notAList => "list_type"
  | .notAString => "string_type"
  | .notUnicode => "string_unicode"
  | .tooShort => "string_too_short"
  | .missing => "missing"
  | .unknownField => "extra_forbidden"
  | .wrongKind _ => "literal_error"
  | .tagMissing => "union_tag_not_found"
  | .tagUnknown _ => "union_tag_invalid"
  | .frozen => "frozen_instance"

def tagList : String :=
  ", ".intercalate (Kind.all.map fun k => "'" ++ k.tag ++ "'")

def message (medium : Medium) : Cause → String
  | .invalidJson => "Invalid JSON"
  | .notAModel model =>
      match medium with
      | .json => "Input should be an object"
      | .memory => "Input should be a valid dictionary or instance of " ++ model.name
  | .outcomeNotAnObject =>
      match medium with
      | .json => "Input should be an object"
      | .memory => "Input should be a valid dictionary or object to extract fields from"
  | .notAList =>
      match medium with
      | .json => "Input should be a valid array"
      | .memory => "Input should be a valid list"
  | .notAString => "Input should be a valid string"
  | .notUnicode => "Input should be a valid string, unable to parse raw data as a unicode string"
  | .tooShort => "String should have at least 1 character"
  | .missing => "Field required"
  | .unknownField => "Extra inputs are not permitted"
  | .wrongKind expected => "Input should be '" ++ expected.tag ++ "'"
  | .tagMissing => "Unable to extract tag using discriminator 'kind'"
  | .tagUnknown shown =>
      "Input tag '" ++ shown ++ "' found using 'kind' does not match any of the expected tags: " ++ tagList
  | .frozen => "Instance is frozen"

end Cause

structure ValidationError where
  medium : Medium
  violations : List Violation
  deriving DecidableEq, Repr

end PullComment.Schema
