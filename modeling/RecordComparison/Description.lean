import RecordComparison.Description.Kind
import RecordComparison.Text.Quoted

/-!
Descriptions of records: a name and the declared fields in their order. `Description.flaw?`
finds the first rule that a description breaks; a description without a flaw is valid.
-/
namespace RecordComparison

structure Declaration where
  name : String
  kind : Kind
  /-- How deep the containers around the leaves are: 0 scalar, 1 array, 2 matrix, 3 tensor. -/
  rank : Nat
  storage : Storage
deriving DecidableEq, Repr

structure Description where
  name : String
  fields : List Declaration
deriving DecidableEq, Repr

namespace Declaration

def nullable (d : Declaration) : Bool := d.storage.nullable

def shapeName (rank : Nat) : String :=
  match rank with
  | 0 => "scalar"
  | 1 => "array"
  | 2 => "matrix"
  | _ => "tensor"

def label (d : Declaration) : String :=
  let held := if d.nullable then " (" ++ d.storage.name ++ ")" else ""
  d.kind.name ++ " " ++ shapeName d.rank ++ held

end Declaration

section Identifiers

def isLetter (c : Char) : Bool := c.isAlpha || c == '_'

def isLetterOrDigit (c : Char) : Bool := c.isAlphanum || c == '_'

def isIdentifier (name : String) : Bool :=
  match name.toList with
  | [] => false
  | c :: later => isLetter c && later.all isLetterOrDigit

end Identifiers

inductive Flaw where
  | recordName (name : String)
  | noFields
  | fieldName (name : String)
  | repeatedField (name : String)
  | rankTooHigh (name : String) (rank : Nat)
  | rankTooHighFor (name : String) (kind : Kind)
deriving DecidableEq

namespace Flaw

def reason : Flaw → String
  | recordName name => "record name " ++ quotedText name ++ " is not an identifier"
  | noFields => "record declares no fields"
  | fieldName name => "field name " ++ quotedText name ++ " is not an identifier"
  | repeatedField name => "duplicate field " ++ quotedText name
  | rankTooHigh name rank =>
    "field " ++ quotedText name ++ " has rank " ++ toString rank ++ ", maximum is " ++
      toString maximalRank
  | rankTooHighFor name kind =>
    "field " ++ quotedText name ++ ": " ++ kind.name ++ " fields support rank " ++
      toString kind.maxRank ++ " at most"

end Flaw

/-- The first rule that a field breaks which comes after the named ones. -/
def Declaration.flaw? (earlier : List String) (d : Declaration) : Option Flaw :=
  if !isIdentifier d.name then some (.fieldName d.name)
  else if earlier.contains d.name then some (.repeatedField d.name)
  else if maximalRank < d.rank then some (.rankTooHigh d.name d.rank)
  else if d.kind.maxRank < d.rank then some (.rankTooHighFor d.name d.kind)
  else none

namespace Description

def fieldFlaw? (earlier : List String) : List Declaration → Option Flaw
  | [] => none
  | d :: later =>
    match d.flaw? earlier with
    | some flaw => some flaw
    | none => fieldFlaw? (d.name :: earlier) later

def flaw? (description : Description) : Option Flaw :=
  if !isIdentifier description.name then some (.recordName description.name)
  else if description.fields.isEmpty then some .noFields
  else fieldFlaw? [] description.fields

def field? (description : Description) (name : String) : Option Declaration :=
  description.fields.find? (·.name == name)

end Description

end RecordComparison
